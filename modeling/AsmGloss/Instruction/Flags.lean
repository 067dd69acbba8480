import AsmGloss.Text.Case
import AsmGloss.Text.Pieces
import AsmGloss.Text.Space

/-!
# Flag lists

The flags that an instruction may change are written with commas between them;
the word `None`, in any case, stands for none.
-/

namespace AsmGloss.Flags

/-- Shows that there are no flags. -/
def noneText : String :=
  "None"

/-- Reads a flag list.  White space around flags and blank entries do not
count. -/
def ofText (text : String) : List String :=
  let trimmed := Text.trim text.toList
  if trimmed.isEmpty || Text.lower trimmed == "none".toList then []
  else
    let flags := (Text.pieces (· == ',') trimmed).map Text.trim
    (flags.filter (! ·.isEmpty)).map String.ofList

/-- A flag list as it is shown. -/
def text (flags : List String) : String :=
  if flags.isEmpty then noneText else ",".intercalate flags

end AsmGloss.Flags
