import AsmGloss.Text.PrintableTable
import AsmGloss.Text.Range

/-!
# Quoted texts

Messages show a text between quotes.  Single quotes are preferred; double quotes
stand where the text has single quotes and no double ones.  The quote in use and
the backslash are escaped, and so is every character that cannot be printed.
-/

namespace AsmGloss.Text

/-- A character that stands for itself between quotes. -/
def isPrintable (c : Char) : Bool :=
  if c.toNat < 0x80 then 0x20 ≤ c.toNat && c.toNat != 0x7F
  else inRanges printableRanges c.toNat

def hexDigit (value : Nat) : Char :=
  if value < 10 then Char.ofNat (0x30 + value) else Char.ofNat (0x57 + value)

/-- The `count` lowest hexadecimal digits of a number. -/
def hexDigits : Nat → Nat → List Char
  | 0, _ => []
  | count + 1, value => hexDigits count (value / 16) ++ [hexDigit (value % 16)]

/-- The escape of a character by its code point, with the fewest of two, four or
eight digits. -/
def codeEscape (c : Char) : List Char :=
  if c.toNat < 0x100 then '\\' :: 'x' :: hexDigits 2 c.toNat
  else if c.toNat < 0x10000 then '\\' :: 'u' :: hexDigits 4 c.toNat
  else '\\' :: 'U' :: hexDigits 8 c.toNat

/-- A character between quotes. -/
def quotedChar (quote : Char) (c : Char) : List Char :=
  if c == quote || c == '\\' then ['\\', c]
  else if c == '\t' then ['\\', 't']
  else if c == '\n' then ['\\', 'n']
  else if c == '\r' then ['\\', 'r']
  else if isPrintable c then [c]
  else codeEscape c

/-- The quote that shows a text best. -/
def quoteFor (text : List Char) : Char :=
  if text.contains '\'' && ! text.contains '"' then '"' else '\''

def quoted (text : List Char) : List Char :=
  let quote := quoteFor text
  quote :: text.flatMap (quotedChar quote) ++ [quote]

/-- A text between quotes, with every character beyond ASCII escaped. -/
def asciiQuoted (text : List Char) : List Char :=
  (quoted text).flatMap fun c => if c.toNat < 0x80 then [c] else codeEscape c

end AsmGloss.Text

namespace AsmGloss

/-- A text between quotes, as messages show it. -/
def quote (text : String) : String :=
  String.ofList (Text.quoted text.toList)

end AsmGloss
