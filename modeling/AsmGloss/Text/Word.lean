import AsmGloss.Text.Range
import AsmGloss.Text.WordTable

/-!
# Word characters

Letters, digits and other numerals of every script, and the underscore, make up
words; the letters and digits of code lines are those of ASCII only.
-/

namespace AsmGloss.Text

def isLetter (c : Char) : Bool :=
  ('a' ≤ c && c ≤ 'z') || ('A' ≤ c && c ≤ 'Z')

def isAsciiDigit (c : Char) : Bool :=
  '0' ≤ c && c ≤ '9'

def isHexDigit (c : Char) : Bool :=
  isAsciiDigit c || ('a' ≤ c && c ≤ 'f') || ('A' ≤ c && c ≤ 'F')

/-- A letter or numeral of any script, or the underscore. -/
def isWord (c : Char) : Bool :=
  if c.toNat < 0x80 then isLetter c || isAsciiDigit c || c == '_'
  else inRanges wordRanges c.toNat

end AsmGloss.Text
