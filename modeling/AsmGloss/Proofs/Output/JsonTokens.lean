import AsmGloss.Output.Json
import AsmGloss.Proofs.Text.Spacing

/-!
# The tokens of a JSON document

A JSON document is cut into tokens from character to character.  White space
separates tokens and is nothing else; a string ends at the first quote that is
not escaped; a number or a name goes on as long as its characters do.  Whatever
its indentation, a document that was written is cut into the tokens of its
value.

A string is first a sequence of codes, since an escape may stand for half of a
character beyond the sixteen-bit ones.  Numbers that are not whole and the
names of truth values are refused, since no value stands for them.
-/

namespace AsmGloss.Json

inductive Token where
  | openArray
  | closeArray
  | openObject
  | closeObject
  | comma
  | colon
  | null
  | string (text : String)
  | number (value : Int)
  deriving DecidableEq, Repr

/-- What a reader stands in. -/
inductive Lexeme where
  | between
  | word (chars : List Char)
  | string (codes : List Nat)
  /-- Behind a backslash. -/
  | escape (codes : List Nat)
  /-- In an escape of four digits, with the value of those that were read. -/
  | unit (codes : List Nat) (digits value : Nat)
  deriving DecidableEq, Repr

/-- What a reader has read: whole tokens, and a part of the next one. -/
structure Lexer where
  tokens : List Token := []
  lexeme : Lexeme := .between
  deriving DecidableEq, Repr

def isBlank (c : Char) : Bool :=
  c == ' ' || c == '\t' || c == '\n' || c == '\r'

/-- A character of a number or a name. -/
def isWordPart (c : Char) : Bool :=
  c.isAlphanum || c == '-' || c == '+' || c == '.'

def punctuation? (c : Char) : Option Token :=
  if c = '[' then some .openArray
  else if c = ']' then some .closeArray
  else if c = '\x7b' then some .openObject
  else if c = '\x7d' then some .closeObject
  else if c = ',' then some .comma
  else if c = ':' then some .colon
  else none

/-- The number that some digits denote.  Only the number zero starts with a
zero. -/
def natural? (digits : List Char) : Option Nat :=
  if digits.isEmpty || ! digits.all Char.isDigit then none
  else if digits.head? = some '0' ∧ digits ≠ ['0'] then none
  else some (Nat.ofDigitChars 10 digits 0)

def integer? : List Char → Option Int
  | '-' :: digits => (natural? digits).map fun value => -Int.ofNat value
  | digits => (natural? digits).map Int.ofNat

def tokenOfWord? (word : List Char) : Option Token :=
  if word = "null".toList then some .null else (integer? word).map .number

def escapedCode? (c : Char) : Option Nat :=
  if c = '"' ∨ c = '\\' ∨ c = '/' then some c.toNat
  else if c = 'b' then some 0x08
  else if c = 'f' then some 0x0C
  else if c = 'n' then some 0x0A
  else if c = 'r' then some 0x0D
  else if c = 't' then some 0x09
  else none

/-- The value of a hexadecimal digit, in either case. -/
def hexValue? (c : Char) : Option Nat :=
  if '0' ≤ c ∧ c ≤ '9' then some (c.toNat - 0x30)
  else if 'a' ≤ c ∧ c ≤ 'f' then some (c.toNat - 0x57)
  else if 'A' ≤ c ∧ c ≤ 'F' then some (c.toNat - 0x37)
  else none

/-- The text with some codes; the halves of a character follow one another. -/
def textOfCodes? : List Nat → Option (List Char)
  | [] => some []
  | code :: rest =>
      if 0xD800 ≤ code ∧ code < 0xDC00 then
        match rest with
        | low :: rest =>
            if 0xDC00 ≤ low ∧ low < 0xE000 then
              (textOfCodes? rest).map fun text =>
                Char.ofNat (0x10000 + (code - 0xD800) * 0x400 + (low - 0xDC00))
                  :: text
            else none
        | [] => none
      else if 0xDC00 ≤ code ∧ code < 0xE000 then none
      else (textOfCodes? rest).map (Char.ofNat code :: ·)

namespace Lexer

def push (lexer : Lexer) (token : Token) : Lexer :=
  { tokens := lexer.tokens ++ [token] }

/-- Ends a number or a name; between tokens there is nothing to end. -/
def settle? (lexer : Lexer) : Option Lexer :=
  match lexer.lexeme with
  | .between => some lexer
  | .word word => (tokenOfWord? word).map lexer.push
  | _ => none

/-- Reads the first character of a token, or white space. -/
def start? (lexer : Lexer) (c : Char) : Option Lexer :=
  if isBlank c then some lexer
  else if c = '"' then some { lexer with lexeme := .string [] }
  else if isWordPart c then some { lexer with lexeme := .word [c] }
  else (punctuation? c).map lexer.push

def inString? (lexer : Lexer) (codes : List Nat) (c : Char) : Option Lexer :=
  if c = '"' then
    (textOfCodes? codes).map fun text =>
      lexer.push (.string (String.ofList text))
  else if c = '\\' then some { lexer with lexeme := .escape codes }
  else if c.toNat < 0x20 then none
  else some { lexer with lexeme := .string (codes ++ [c.toNat]) }

def step? (lexer : Lexer) (c : Char) : Option Lexer :=
  match lexer.lexeme with
  | .between => lexer.start? c
  | .word word =>
      if isWordPart c then some { lexer with lexeme := .word (word ++ [c]) }
      else lexer.settle?.bind fun settled => settled.start? c
  | .string codes => lexer.inString? codes c
  | .escape codes =>
      if c = 'u' then some { lexer with lexeme := .unit codes 0 0 }
      else (escapedCode? c).map fun code =>
        { lexer with lexeme := .string (codes ++ [code]) }
  | .unit codes digits value =>
      (hexValue? c).map fun digit =>
        if digits = 3 then
          { lexer with lexeme := .string (codes ++ [16 * value + digit]) }
        else
          { lexer with lexeme := .unit codes (digits + 1) (16 * value + digit) }

def run (lexer : Lexer) (text : List Char) : Option Lexer :=
  text.foldlM step? lexer

end Lexer

def tokens? (text : List Char) : Option (List Token) :=
  ((Lexer.run {} text).bind Lexer.settle?).map Lexer.tokens

mutual

def tokens : JsonValue → List Token
  | .null => [.null]
  | .string text => [.string text]
  | .number value => [.number value]
  | .array [] => [.openArray, .closeArray]
  | .array (item :: items) =>
      .openArray :: tokens item ++ itemTokens items ++ [.closeArray]
  | .object [] => [.openObject, .closeObject]
  | .object ((key, value) :: members) =>
      .openObject :: .string key :: .colon :: tokens value ++
        memberTokens members ++ [.closeObject]

/-- The tokens of the items behind the first. -/
def itemTokens : List JsonValue → List Token
  | [] => []
  | item :: items => .comma :: tokens item ++ itemTokens items

/-- The tokens of the members behind the first. -/
def memberTokens : List (String × JsonValue) → List Token
  | [] => []
  | (key, value) :: members =>
      .comma :: .string key :: .colon :: tokens value ++ memberTokens members

end

namespace Lexer

theorem run_cons (lexer : Lexer) (c : Char) (text : List Char) :
    run lexer (c :: text) =
      (lexer.step? c).bind fun reached => run reached text :=
  rfl

theorem run_append {lexer reached : Lexer} {front : List Char}
    (back : List Char) (ran : run lexer front = some reached) :
    run lexer (front ++ back) = run reached back := by
  simp only [run, List.foldlM_append] at ran ⊢
  rw [ran]
  rfl

theorem run_char {lexer : Lexer} {codes : List Nat} {c : Char}
    (inside : lexer.lexeme = .string codes) (plain : c ≠ '"' ∧ c ≠ '\\')
    (printed : 0x20 ≤ c.toNat) :
    run lexer [c] =
      some { lexer with lexeme := .string (codes ++ [c.toNat]) } := by
  simp [run, step?, inside, inString?, plain, Nat.not_lt.mpr printed]

theorem run_escape {lexer : Lexer} {codes : List Nat} {c : Char} {code : Nat}
    (inside : lexer.lexeme = .string codes) (plain : c ≠ 'u')
    (escaped : escapedCode? c = some code) :
    run lexer ['\\', c] =
      some { lexer with lexeme := .string (codes ++ [code]) } := by
  simp [run, step?, inside, inString?, plain, escaped]

theorem hexValue?_hexDigit {digit : Nat} (small : digit < 16) :
    hexValue? (Text.hexDigit digit) = some digit := by
  have every : ∀ digit < 16, hexValue? (Text.hexDigit digit) = some digit := by
    decide +kernel
  exact every digit small

theorem run_unit {lexer : Lexer} {codes : List Nat} {code : Nat}
    (inside : lexer.lexeme = .string codes) (narrow : code < 0x10000) :
    run lexer ('\\' :: 'u' :: Text.hexDigits 4 code) =
      some { lexer with lexeme := .string (codes ++ [code]) } := by
  have digit (value : Nat) : hexValue? (Text.hexDigit (value % 16)) =
      some (value % 16) :=
    hexValue?_hexDigit (Nat.mod_lt value (by decide))
  have value : 16 * (16 * (16 * (code / 16 / 16 / 16 % 16) +
      code / 16 / 16 % 16) + code / 16 % 16) + code % 16 = code := by
    omega
  simp [run, step?, inside, inString?, Text.hexDigits, digit, value]

theorem run_escapedChar {lexer : Lexer} {codes : List Nat}
    (inside : lexer.lexeme = .string codes) (c : Char) :
    run lexer (JsonValue.escapedChar c) =
      some { lexer with lexeme := .string (codes ++ [c.toNat]) } := by
  by_cases marked : c = '"' ∨ c = '\\'
  · rcases marked with rfl | rfl
    · exact run_escape inside (by decide) rfl
    · exact run_escape inside (by decide) rfl
  · obtain ⟨unquoted, unescaped⟩ := not_or.mp marked
    by_cases feed : c = '\n'
    · rw [feed]
      exact run_escape inside (by decide) rfl
    by_cases return_ : c = '\r'
    · rw [return_]
      exact run_escape inside (by decide) rfl
    by_cases tab : c = '\t'
    · rw [tab]
      exact run_escape inside (by decide) rfl
    simp only [JsonValue.escapedChar, Bool.or_eq_true, beq_iff_eq, unquoted,
      unescaped, or_self, feed, return_, tab, if_false]
    by_cases backspace : c.toNat = 0x08
    · rw [if_pos backspace, backspace]
      exact run_escape inside (by decide) rfl
    by_cases formFeed : c.toNat = 0x0C
    · rw [if_neg backspace, if_pos formFeed, formFeed]
      exact run_escape inside (by decide) rfl
    by_cases control : c.toNat < 0x20
    · rw [if_neg backspace, if_neg formFeed, if_pos control]
      exact run_unit inside (by omega)
    · rw [if_neg backspace, if_neg formFeed, if_neg control]
      exact run_char inside ⟨unquoted, unescaped⟩ (Nat.le_of_not_lt control)

theorem run_escapedChars (lexer : Lexer) {codes : List Nat}
    (inside : lexer.lexeme = .string codes) (text : List Char) :
    run lexer (text.flatMap JsonValue.escapedChar) =
      some { lexer with lexeme := .string (codes ++ text.map Char.toNat) } := by
  induction text generalizing lexer codes with
  | nil =>
      rw [List.map_nil, List.append_nil, ← inside]
      rfl
  | cons c text induction =>
      rw [List.flatMap_cons, run_append _ (run_escapedChar inside c),
        induction { lexer with lexeme := .string (codes ++ [c.toNat]) } rfl,
        List.append_assoc]
      rfl

/-- No character is a half of another one. -/
theorem textOfCodes?_map_toNat (text : List Char) :
    textOfCodes? (text.map Char.toNat) = some text := by
  induction text with
  | nil => rfl
  | cons c text induction =>
      have whole : c.toNat < 0xD800 ∨ 0xDFFF < c.toNat := by
        rcases c.valid with low | ⟨high, _⟩
        · exact .inl low
        · exact .inr high
      have noHigh : ¬(0xD800 ≤ c.toNat ∧ c.toNat < 0xDC00) := by omega
      have noLow : ¬(0xDC00 ≤ c.toNat ∧ c.toNat < 0xE000) := by omega
      rw [List.map_cons, textOfCodes?.eq_def]
      simp only [noHigh, noLow, if_false, induction, Option.map_some,
        Char.ofNat_toNat]

theorem run_stringText (tokens : List Token) (text : String) :
    run { tokens } (JsonValue.stringText text) =
      some { tokens := tokens ++ [.string text] } := by
  have body :=
    run_escapedChars { tokens, lexeme := .string [] } rfl text.toList
  have opened : ({ tokens } : Lexer).step? '"' =
      some { tokens, lexeme := .string [] } :=
    rfl
  rw [JsonValue.stringText, List.cons_append, run_cons, opened,
    Option.bind_some, run_append _ body]
  simp [run, step?, inString?, textOfCodes?_map_toNat, push]

theorem run_word {tokens : List Token} {word text : List Char}
    (parts : ∀ c ∈ text, isWordPart c = true) :
    run { tokens, lexeme := .word word } text =
      some { tokens, lexeme := .word (word ++ text) } := by
  induction text generalizing word with
  | nil =>
      rw [List.append_nil]
      rfl
  | cons c text induction =>
      have stepped : ({ tokens, lexeme := .word word } : Lexer).step? c =
          some { tokens, lexeme := .word (word ++ [c]) } := by
        simp [step?, parts c List.mem_cons_self]
      rw [run_cons, stepped, Option.bind_some,
        induction fun other member =>
          parts other (List.mem_cons_of_mem c member),
        List.append_assoc, List.singleton_append]

end Lexer

/-- A number is written without zeros before its first digit. -/
theorem toDigits_head {value : Nat} (positive : 0 < value) :
    (Nat.toDigits 10 value).head? ≠ some '0' := by
  induction value using Nat.strong_induction_on with
  | _ value induction =>
      by_cases small : value < 10
      · have every : ∀ digit < 10, 0 < digit →
            Nat.digitChar digit ≠ '0' := by
          decide
        rw [Nat.toDigits_of_lt_base small]
        simpa using every value small positive
      · have earlier := induction (value / 10) (by omega) (by omega)
        rw [Nat.toDigits_of_base_le (by decide) (Nat.le_of_not_lt small),
          List.head?_append, Option.or_of_isSome (by simp)]
        exact earlier

theorem natural?_toDigits (value : Nat) :
    natural? (Nat.toDigits 10 value) = some value := by
  have digits : (Nat.toDigits 10 value).all Char.isDigit = true :=
    List.all_eq_true.mpr fun c member =>
      Nat.isDigit_of_mem_toDigits (by decide) (by decide) member
  have nonempty : (Nat.toDigits 10 value).isEmpty = false :=
    List.isEmpty_eq_false_iff.mpr Nat.toDigits_ne_nil
  have noZero : ¬((Nat.toDigits 10 value).head? = some '0' ∧
      Nat.toDigits 10 value ≠ ['0']) := by
    rintro ⟨zero, more⟩
    rcases Nat.eq_zero_or_pos value with rfl | positive
    · exact more rfl
    · exact toDigits_head positive zero
  rw [natural?, nonempty, digits, if_neg noZero, Nat.ofDigitChars_ten_toDigits]
  rfl

/-- A whole number is written as a word that denotes it. -/
theorem integer?_toString (value : Int) :
    integer? (toString value).toList = some value := by
  have digits (magnitude : Nat) :
      (toString magnitude).toList = Nat.toDigits 10 magnitude := by
    rw [Nat.toString_eq_ofList_toDigits, String.toList_ofList]
  cases value with
  | ofNat magnitude =>
      have written : (toString (Int.ofNat magnitude)).toList =
          Nat.toDigits 10 magnitude :=
        digits magnitude
      rw [written, integer?.eq_def]
      split
      · rename_i minus
        have digit := Nat.isDigit_of_mem_toDigits (b := 10) (c := '-')
          (by decide) (by decide) (minus ▸ List.mem_cons_self)
        exact absurd digit (by decide)
      · rw [natural?_toDigits]
        rfl
  | negSucc magnitude =>
      have written : (toString (Int.negSucc magnitude)).toList =
          '-' :: Nat.toDigits 10 (magnitude + 1) := by
        rw [← digits]
        exact String.toList_append
      rw [written, integer?, natural?_toDigits]
      rfl

theorem isDigit_of_natural? {digits : List Char} {value : Nat}
    (denoted : natural? digits = some value) :
    ∀ c ∈ digits, c.isDigit = true := by
  rw [natural?] at denoted
  split_ifs at denoted with wrong
  simp only [Bool.or_eq_true, Bool.not_eq_true', not_or] at wrong
  simpa using wrong.2

theorem isWordPart_of_integer? {word : List Char} {value : Int}
    (denoted : integer? word = some value) :
    ∀ c ∈ word, isWordPart c = true := by
  have wordPart {c : Char} (digit : c.isDigit = true) :
      isWordPart c = true := by
    simp [isWordPart, Char.isAlphanum, digit]
  rw [integer?.eq_def] at denoted
  split at denoted
  · obtain ⟨magnitude, digits, _⟩ := Option.map_eq_some_iff.mp denoted
    intro c member
    rcases List.mem_cons.mp member with rfl | inDigits
    · decide
    · exact wordPart (isDigit_of_natural? digits c inDigits)
  · obtain ⟨magnitude, digits, _⟩ := Option.map_eq_some_iff.mp denoted
    exact fun c member => wordPart (isDigit_of_natural? digits c member)

/-- A reader that has read some tokens; the last may not be ended. -/
def Lexer.Holds (lexer : Lexer) (before : List Token) : Prop :=
  lexer.settle? = some { tokens := before }

/-- A text that is read as some tokens. -/
def Reads (text : List Char) (tokens : List Token) : Prop :=
  ∀ before, ∃ reached, Lexer.run { tokens := before } text = some reached ∧
    reached.Holds (before ++ tokens)

/-- A text that is read as some tokens, the last of which is ended. -/
def ReadsWhole (text : List Char) (tokens : List Token) : Prop :=
  ∀ before, Lexer.run { tokens := before } text =
    some { tokens := before ++ tokens }

/-- Behind a text, a character that is no part of a word ends what is open. -/
theorem Lexer.Holds.run_eq {lexer : Lexer} {before : List Token}
    (holds : lexer.Holds before) {text : List Char} (nonempty : text ≠ [])
    (apart : Text.StartsOutside isWordPart text) :
    lexer.run text = run { tokens := before } text := by
  cases text with
  | nil => exact absurd rfl nonempty
  | cons c text =>
      have outside : isWordPart c = false := apart c rfl
      have stepped :
          lexer.step? c = ({ tokens := before } : Lexer).step? c := by
        obtain ⟨tokens, lexeme⟩ := lexer
        cases lexeme with
        | between =>
            have same : ({ tokens } : Lexer) = { tokens := before } :=
              Option.some.inj holds
            rw [same]
        | word word =>
            have settled : ({ tokens, lexeme := .word word } : Lexer).settle? =
                some { tokens := before } :=
              holds
            simp [step?, outside, settled]
        | string codes => cases holds
        | escape codes => cases holds
        | unit codes digits value => cases holds
      rw [run_cons, run_cons, stepped]

theorem reads_nil : Reads [] [] :=
  fun before => ⟨{ tokens := before }, rfl, by rw [List.append_nil]; rfl⟩

theorem ReadsWhole.reads {text : List Char} {tokens : List Token}
    (whole : ReadsWhole text tokens) : Reads text tokens :=
  fun before => ⟨_, whole before, rfl⟩

theorem ReadsWhole.append {front back : List Char} {earlier later : List Token}
    (whole : ReadsWhole front earlier) (wholeBack : ReadsWhole back later) :
    ReadsWhole (front ++ back) (earlier ++ later) := by
  intro before
  rw [Lexer.run_append back (whole before), wholeBack, List.append_assoc]

theorem ReadsWhole.append_reads {front back : List Char}
    {earlier later : List Token} (whole : ReadsWhole front earlier)
    (reads : Reads back later) : Reads (front ++ back) (earlier ++ later) := by
  intro before
  rw [Lexer.run_append back (whole before), ← List.append_assoc]
  exact reads (before ++ earlier)

theorem Reads.append_whole {front back : List Char}
    {earlier later : List Token} (reads : Reads front earlier)
    (nonempty : back ≠ []) (apart : Text.StartsOutside isWordPart back)
    (whole : ReadsWhole back later) :
    ReadsWhole (front ++ back) (earlier ++ later) := by
  intro before
  obtain ⟨reached, ran, holds⟩ := reads before
  rw [Lexer.run_append back ran, holds.run_eq nonempty apart, whole,
    List.append_assoc]

theorem Reads.append {front back : List Char} {earlier later : List Token}
    (reads : Reads front earlier) (apart : Text.StartsOutside isWordPart back)
    (readsBack : Reads back later) :
    Reads (front ++ back) (earlier ++ later) := by
  intro before
  obtain ⟨reached, ran, holds⟩ := reads before
  obtain ⟨last, ranBack, holdsBack⟩ := readsBack (before ++ earlier)
  rw [Lexer.run_append back ran]
  by_cases empty : back = []
  · subst empty
    cases ranBack
    have nothing : before ++ earlier = before ++ earlier ++ later :=
      congrArg Lexer.tokens (Option.some.inj holdsBack)
    rw [← List.append_assoc, ← nothing]
    exact ⟨reached, rfl, holds⟩
  · rw [holds.run_eq empty apart, ← List.append_assoc]
    exact ⟨last, ranBack, holdsBack⟩

theorem readsWhole_mark {c : Char} {token : Token}
    (mark : punctuation? c = some token) : ReadsWhole [c] [token] := by
  intro before
  have plain : isBlank c = false ∧ c ≠ '"' ∧ isWordPart c = false := by
    simp only [punctuation?] at mark
    split_ifs at mark with first second third fourth fifth sixth
    all_goals
      subst c
      decide
  simp [Lexer.run, Lexer.step?, Lexer.start?, plain, mark, Lexer.push]

theorem readsWhole_blank {text : List Char}
    (blank : ∀ c ∈ text, isBlank c = true) : ReadsWhole text [] := by
  intro before
  rw [List.append_nil]
  induction text with
  | nil => rfl
  | cons c text induction =>
      have stepped : ({ tokens := before } : Lexer).step? c =
          some { tokens := before } := by
        simp [Lexer.step?, Lexer.start?, blank c List.mem_cons_self]
      rw [Lexer.run_cons, stepped, Option.bind_some]
      exact induction fun other member =>
        blank other (List.mem_cons_of_mem c member)

theorem readsWhole_newLine (level : Nat) :
    ReadsWhole (JsonValue.newLine level) [] := by
  refine readsWhole_blank fun c member => ?_
  rcases List.mem_cons.mp member with rfl | inIndent
  · decide
  · rw [List.eq_of_mem_replicate inIndent]
    decide

theorem readsWhole_string (text : String) :
    ReadsWhole (JsonValue.stringText text) [.string text] :=
  fun before => Lexer.run_stringText before text

theorem readsWhole_colon : ReadsWhole ": ".toList [.colon] := by
  intro before
  rfl

theorem reads_word {c : Char} {text : List Char} {token : Token}
    (parts : Text.AllOf isWordPart (c :: text))
    (denoted : tokenOfWord? (c :: text) = some token) :
    Reads (c :: text) [token] := by
  intro before
  have here := parts c List.mem_cons_self
  have plain : isBlank c = false ∧ c ≠ '"' := by
    constructor
    · cases blank : isBlank c with
      | false => rfl
      | true =>
          simp only [isBlank, Bool.or_eq_true, beq_iff_eq] at blank
          rcases blank with ((rfl | rfl) | rfl) | rfl <;>
            exact absurd here (by decide)
    · rintro rfl
      exact absurd here (by decide)
  have started : ({ tokens := before } : Lexer).step? c =
      some { tokens := before, lexeme := .word [c] } := by
    simp [Lexer.step?, Lexer.start?, plain, here]
  refine ⟨{ tokens := before, lexeme := .word (c :: text) }, ?_, ?_⟩
  · rw [Lexer.run_cons, started, Option.bind_some]
    exact Lexer.run_word fun other member =>
      parts other (List.mem_cons_of_mem c member)
  · simp only [Lexer.Holds, Lexer.settle?, denoted, Option.map_some, Lexer.push]

theorem reads_null : Reads "null".toList [.null] := by
  have parts : Text.AllOf isWordPart "null".toList := by decide
  exact reads_word parts rfl

theorem reads_number (value : Int) :
    Reads (toString value).toList [.number value] := by
  have denoted := integer?_toString value
  cases word : (toString value).toList with
  | nil =>
      rw [word] at denoted
      cases denoted
  | cons c text =>
      rw [word] at denoted
      refine reads_word (isWordPart_of_integer? denoted) ?_
      have plain : c :: text ≠ "null".toList := by
        intro same
        rw [same] at denoted
        cases denoted
      rw [tokenOfWord?, if_neg plain, denoted]
      rfl

theorem newLine_ne_nil (level : Nat) (back : List Char) :
    JsonValue.newLine level ++ back ≠ [] :=
  List.cons_ne_nil '\n' _

theorem newLine_startsOutside (level : Nat) (back : List Char) :
    Text.StartsOutside isWordPart (JsonValue.newLine level ++ back) :=
  .cons (by decide) _

theorem renderItems_startsOutside (level : Nat) (items : List JsonValue) :
    Text.StartsOutside isWordPart (JsonValue.renderItems level items) := by
  cases items with
  | nil =>
      intro c head
      cases head
  | cons item items => exact .cons (by decide) _

theorem renderMembers_startsOutside (level : Nat)
    (members : List (String × JsonValue)) :
    Text.StartsOutside isWordPart (JsonValue.renderMembers level members) := by
  cases members with
  | nil =>
      intro c head
      cases head
  | cons member members => exact .cons (by decide) _

/-- A list of values between marks, each value on a line of its own. -/
theorem readsWhole_block (first last : Char) {opening closing : Token}
    (opens : punctuation? first = some opening)
    (closes : punctuation? last = some closing) (level : Nat)
    {body : List Char} {content : List Token} (reads : Reads body content) :
    ReadsWhole
      (first :: JsonValue.newLine (level + 1) ++ body ++
        JsonValue.newLine level ++ [last])
      (opening :: content ++ [closing]) := by
  have front := (readsWhole_mark opens).append (readsWhole_newLine (level + 1))
  have back := (readsWhole_newLine level).append (readsWhole_mark closes)
  have block := (front.append_reads reads).append_whole
    (newLine_ne_nil level [last]) (newLine_startsOutside level [last]) back
  simpa using block

theorem reads_member {level : Nat} {value : JsonValue} (key : String)
    (reads : Reads (value.render level) (tokens value)) :
    Reads (JsonValue.stringText key ++ ": ".toList ++ value.render level)
      (.string key :: .colon :: tokens value) :=
  ((readsWhole_string key).append readsWhole_colon).append_reads reads

/-- A value, or a key and its value, behind another one. -/
theorem reads_next (level : Nat) {body : List Char} {content : List Token}
    (reads : Reads body content) :
    Reads (',' :: JsonValue.newLine level ++ body) (.comma :: content) :=
  ((readsWhole_mark rfl).append (readsWhole_newLine level)).append_reads reads

mutual

theorem reads_render (level : Nat) (value : JsonValue) :
    Reads (value.render level) (tokens value) := by
  cases value with
  | null => exact reads_null
  | string text => exact (readsWhole_string text).reads
  | number value => exact reads_number value
  | array items =>
      cases items with
      | nil => exact ((readsWhole_mark rfl).append (readsWhole_mark rfl)).reads
      | cons item items =>
          have body := (reads_render (level + 1) item).append
            (renderItems_startsOutside (level + 1) items)
            (reads_renderItems (level + 1) items)
          have block := readsWhole_block '[' ']' rfl rfl level body
          simpa [JsonValue.render, tokens] using block.reads
  | object members =>
      cases members with
      | nil => exact ((readsWhole_mark rfl).append (readsWhole_mark rfl)).reads
      | cons member members =>
          obtain ⟨key, value⟩ := member
          have body :=
            (reads_member key (reads_render (level + 1) value)).append
              (renderMembers_startsOutside (level + 1) members)
              (reads_renderMembers (level + 1) members)
          have block := readsWhole_block '\x7b' '\x7d' rfl rfl level body
          simpa [JsonValue.render, tokens] using block.reads

theorem reads_renderItems (level : Nat) (items : List JsonValue) :
    Reads (JsonValue.renderItems level items) (itemTokens items) := by
  cases items with
  | nil => exact reads_nil
  | cons item items =>
      exact (reads_next level (reads_render level item)).append
        (renderItems_startsOutside level items) (reads_renderItems level items)

theorem reads_renderMembers (level : Nat)
    (members : List (String × JsonValue)) :
    Reads (JsonValue.renderMembers level members) (memberTokens members) := by
  cases members with
  | nil => exact reads_nil
  | cons member members =>
      obtain ⟨key, value⟩ := member
      have next := reads_next level
        (reads_member key (reads_render level value))
      have all := next.append (renderMembers_startsOutside level members)
        (reads_renderMembers level members)
      simpa [JsonValue.renderMembers, memberTokens] using all

end

/-- A document is cut into the tokens of its value. -/
theorem tokens?_text (document : JsonValue) :
    tokens? document.text.toList = some (tokens document) := by
  obtain ⟨reached, ran, holds⟩ := reads_render 0 document []
  rw [JsonValue.text, String.toList_ofList, tokens?, ran, Option.bind_some,
    holds]
  rfl

end AsmGloss.Json
