import AsmGloss.Text.Quoted
import AsmGloss.Text.Utf8

/-!
# Texts of the operating system

The operating system names files by bytes.  A name is read as a text in UTF-8,
and a byte that is part of no character stays in it as it is.  What such a byte
stands in can be shown and can name a file, but it cannot be encoded: no text in
a file has it.

The bytes that are left in a row are taken to make up no character together, as
those of a name that was read.
-/

namespace AsmGloss

/-- A character, or a byte that is part of none.  Such a byte is 0x80 at least,
and `low` is what it has beyond that. -/
inductive Glyph where
  | char (c : Char)
  | stray (low : Fin 0x80)
  deriving DecidableEq, Repr

namespace Glyph

/-- The code point.  Stray bytes have code points that no character has. -/
def code : Glyph → Nat
  | char c => c.toNat
  | stray low => 0xDC80 + low

def char? : Glyph → Option Char
  | char c => some c
  | stray _ => none

def size : Glyph → Nat
  | char c => c.utf8Size
  | stray _ => 1

/-- A glyph by its code point. -/
def escape (glyph : Glyph) : List Char :=
  '\\' :: 'u' :: Text.hexDigits 4 glyph.code

end Glyph

/-- A text that may hold stray bytes. -/
abbrev SystemText :=
  List Glyph

namespace SystemText

def ofChars (text : List Char) : SystemText :=
  text.map .char

def ofString (text : String) : SystemText :=
  ofChars text.toList

instance : Coe String SystemText :=
  ⟨ofString⟩

/-- The text without stray bytes, if it has none. -/
def text? (text : SystemText) : Option String :=
  (text.mapM Glyph.char?).map String.ofList

def size : SystemText → Nat
  | [] => 0
  | glyph :: rest => glyph.size + size rest

/-- Whether a text comes before another one or is the same, by code points. -/
def precedes : SystemText → SystemText → Bool
  | [], _ => true
  | _ :: _, [] => false
  | glyph :: rest, other :: others =>
    if glyph.code = other.code then precedes rest others
    else decide (glyph.code < other.code)

/-- A text on a screen, with stray bytes by their code points. -/
def shown (text : SystemText) : String :=
  String.ofList (text.flatMap fun
    | .char c => [c]
    | glyph => glyph.escape)

def quoteFor (text : SystemText) : Char :=
  Text.quoteFor (text.filterMap Glyph.char?)

/-- A text between quotes, as messages show it. -/
def quoted (text : SystemText) : String :=
  let quote := text.quoteFor
  let inside := text.flatMap fun
    | .char c => Text.quotedChar quote c
    | glyph => glyph.escape
  String.ofList (quote :: inside ++ [quote])

end SystemText

/-- The first stray bytes of a text that was to be encoded. -/
structure StrayRun where
  /-- The number of characters before them. -/
  start : Nat
  run : SystemText
  deriving DecidableEq, Repr

namespace StrayRun

/-- The first stray bytes of a text. -/
def ofText (text : SystemText) : StrayRun :=
  let characters := text.takeWhile (·.char?.isSome)
  let rest := text.dropWhile (·.char?.isSome)
  { start := characters.length, run := rest.takeWhile (·.char?.isNone) }

def message (found : StrayRun) : String :=
  let place :=
    match found.run with
    | [glyph] =>
      s!"character '{String.ofList glyph.escape}' in position {found.start}"
    | run =>
      s!"characters in position {found.start}-{found.start + run.length - 1}"
  s!"'utf-8' codec can't encode {place}: surrogates not allowed"

end StrayRun

/-- The bytes of a text in UTF-8, which stray bytes keep it from having. -/
def SystemText.encode (text : SystemText) : Except StrayRun (List UInt8) :=
  match text.text? with
  | some text => .ok (Text.Utf8.encode text.toList)
  | none => .error (.ofText text)

end AsmGloss
