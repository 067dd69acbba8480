/-!
# UTF-8

Writing gives the one encoding of a text.  Reading accepts every sequence of
bytes: each longest part that begins a character but does not complete one, and
each byte that begins none, becomes one replacement character.
-/

namespace AsmGloss.Text.Utf8

/-- Stands for bytes that are no character. -/
def replacement : Char :=
  '\uFFFD'

/-- The bytes of a text. -/
def encode (text : List Char) : List UInt8 :=
  text.flatMap String.utf8EncodeChar

/-- A byte that continues a character. -/
def isContinuation (b : UInt8) : Bool :=
  0x80 ≤ b && b ≤ 0xBF

/-- The number of bytes that must follow a first byte, and whether a second byte
may: the bounds on the second byte exclude overlong forms, surrogates and
numbers that are no code point. -/
def lead (b : UInt8) : Nat × (UInt8 → Bool) :=
  if b < 0x80 then (0, isContinuation)
  else if b < 0xC2 then (4, isContinuation)
  else if b < 0xE0 then (1, isContinuation)
  else if b == 0xE0 then (2, fun second => 0xA0 ≤ second && second ≤ 0xBF)
  else if b == 0xED then (2, fun second => 0x80 ≤ second && second ≤ 0x9F)
  else if b < 0xF0 then (2, isContinuation)
  else if b == 0xF0 then (3, fun second => 0x90 ≤ second && second ≤ 0xBF)
  else if b == 0xF4 then (3, fun second => 0x80 ≤ second && second ≤ 0x8F)
  else if b < 0xF4 then (3, isContinuation)
  else (4, isContinuation)

/-- The six low bits of a continuation byte. -/
def payload (b : UInt8) : Nat :=
  b.toNat % 0x40

/-- The text that some bytes encode, with replacement characters for what is no
text. -/
def decode : List UInt8 → List Char
  | [] => []
  | a :: afterA =>
    match lead a with
    | (0, _) => Char.ofNat a.toNat :: decode afterA
    | (1, mayFollow) =>
      match afterA with
      | [] => [replacement]
      | b :: afterB =>
        if mayFollow b then
          Char.ofNat (a.toNat % 0x20 * 0x40 + payload b) :: decode afterB
        else replacement :: decode (b :: afterB)
    | (2, mayFollow) =>
      match afterA with
      | [] => [replacement]
      | b :: afterB =>
        if mayFollow b then
          match afterB with
          | [] => [replacement]
          | c :: afterC =>
            if isContinuation c then
              Char.ofNat
                  ((a.toNat % 0x10 * 0x40 + payload b) * 0x40 + payload c) ::
                decode afterC
            else replacement :: decode (c :: afterC)
        else replacement :: decode (b :: afterB)
    | (3, mayFollow) =>
      match afterA with
      | [] => [replacement]
      | b :: afterB =>
        if mayFollow b then
          match afterB with
          | [] => [replacement]
          | c :: afterC =>
            if isContinuation c then
              match afterC with
              | [] => [replacement]
              | d :: afterD =>
                if isContinuation d then
                  Char.ofNat
                      (((a.toNat % 0x08 * 0x40 + payload b) * 0x40 +
                        payload c) * 0x40 + payload d)
                    :: decode afterD
                else replacement :: decode (d :: afterD)
            else replacement :: decode (c :: afterC)
        else replacement :: decode (b :: afterB)
    | _ => replacement :: decode afterA

end AsmGloss.Text.Utf8
