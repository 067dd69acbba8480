/-!
# White space

White space is a property of the whole Unicode repertoire; the C1 and
information separators count, zero-width characters do not.  Texts are trimmed
at either end, and cut into the words between white space.
-/

namespace AsmGloss.Text

/-- White space: the separators and the control characters that move the print
position. -/
def isSpace (c : Char) : Bool :=
  let code := c.toNat
  (0x09 ≤ code && code ≤ 0x0D) || (0x1C ≤ code && code ≤ 0x20) || code == 0x85
    || code == 0xA0 || code == 0x1680 || (0x2000 ≤ code && code ≤ 0x200A)
    || code == 0x2028 || code == 0x2029 || code == 0x202F
    || code == 0x205F || code == 0x3000

/-- The list without the longest run at its end whose members all satisfy
`p`. -/
def dropEndWhile (p : Char → Bool) (text : List Char) : List Char :=
  (text.reverse.dropWhile p).reverse

def trimStart (text : List Char) : List Char :=
  text.dropWhile isSpace

def trimEnd (text : List Char) : List Char :=
  dropEndWhile isSpace text

def trim (text : List Char) : List Char :=
  trimEnd (trimStart text)

/-- The first word of a text: its characters up to white space, once white space
before them is skipped.  A blank text has the empty first word. -/
def firstWord (text : List Char) : List Char :=
  (trimStart text).takeWhile (! isSpace ·)

/-- A text that ends in a word, cut into what stands before its last word and
that word.  `none` if there is at most one word. -/
def splitLastWord? (text : List Char) : Option (List Char × List Char) :=
  let fromEnd := text.reverse.dropWhile isSpace
  match (fromEnd.dropWhile (! isSpace ·)).dropWhile isSpace with
  | [] => none
  | before => some (before.reverse, (fromEnd.takeWhile (! isSpace ·)).reverse)

end AsmGloss.Text

namespace AsmGloss

/-- A text without white space at both ends. -/
def trimmed (text : String) : String :=
  String.ofList (Text.trim text.toList)

/-- A text without white space at its end. -/
def trimmedEnd (text : String) : String :=
  String.ofList (Text.trimEnd text.toList)

end AsmGloss
